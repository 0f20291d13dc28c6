import CmsTypings.Disk.Path
import CmsTypings.Failure
import CmsTypings.Text.Utf8

/-!
The files and directories that a run meets.

A disk says of each place what is there. A path leads to a place by way of directories; reading
changes nothing, and writing changes one place.
-/

namespace CmsTypings

namespace Disk

/-- What a file holds: a text, or octets that are none. -/
inductive Content where
  | text (text : String)
  | binary (octets : List UInt8)
deriving DecidableEq, Repr

def Content.ofOctets (octets : List UInt8) : Content :=
  match Text.Utf8.decode octets with
  | .ok decoded => .text decoded
  | .error _ => .binary octets

inductive Node where
  | file (content : Content)
  | directory
deriving DecidableEq, Repr

/-- Where something is: the names that lead there from the root, the innermost one first. -/
abbrev Place := List String

/-- The longest name that a directory can hold, in octets. -/
def longestName : Nat := 255

/-- The longest path that can be followed, in octets. -/
def longestPath : Nat := 4095

/-- What is wrong with a path wherever it leads. -/
def Path.flaw? (p : Path) : Option IoFault :=
  if p.text.toList.contains '\x00' then some .nulInPath
  else if longestPath < p.text.utf8ByteSize then some .nameTooLong
  else none

end Disk

open Disk

structure Disk where
  nodes : Place → Option Node
  /-- The directory from which paths lead that do not begin at the root. -/
  here : Place

namespace Disk

/-- What is at a place; the root is a directory. -/
def node? (d : Disk) : Place → Option Node
  | [] => some .directory
  | p => d.nodes p

def put (d : Disk) (place : Place) (node : Node) : Disk :=
  { d with nodes := fun p => if p = place then some node else d.nodes p }

theorem nodes_put (d : Disk) (place p : Place) (node : Node) :
    (d.put place node).nodes p = if p = place then some node else d.nodes p := rfl

theorem nodes_put_of_ne (d : Disk) {place p : Place} (node : Node) (h : p ≠ place) :
    (d.put place node).nodes p = d.nodes p := by simp [nodes_put, h]

/-- The directory into which a path's next name is looked up. -/
def enter (d : Disk) (place : Place) : Except IoFault Unit :=
  match d.node? place with
  | none => .error .notFound
  | some (.file _) => .error .notADirectory
  | some .directory => .ok ()

/-- Follows names, the innermost first, from a starting place. -/
def follow (d : Disk) (start : Place) : List String → Except IoFault Place
  | [] => .ok start
  | name :: outer => do
    let place ← d.follow start outer
    d.enter place
    if name = "." then return place
    else if name = ".." then return place.tail
    else if longestName < name.utf8ByteSize then throw .nameTooLong
    else return name :: place

def startOf (d : Disk) (p : Path) : Place := if p.isAbsolute then [] else d.here

/-- The place to which a path leads, whether something is there or not. -/
def place (d : Disk) (p : Path) : Except IoFault Place :=
  match p.flaw? with
  | some f => .error f
  | none =>
    if p.text.isEmpty then .error .notFound else d.follow (d.startOf p) p.names.reverse

/-- The text of the file at a path. -/
def read (d : Disk) (p : Path) : Except IoFault String := do
  match d.node? (← d.place p) with
  | none => throw .notFound
  | some .directory => throw .isADirectory
  | some (.file content) =>
    if p.endsInSlash then throw .notADirectory
    else
      match content with
      | .text text => return text
      | .binary _ => throw .notUtf8

/-- Puts a text in the place of a file, or where nothing is. -/
def write (d : Disk) (p : Path) (text : String) : Except IoFault Disk := do
  let place ← d.place p
  if p.endsInSlash then throw .isADirectory
  match d.node? place with
  | some .directory => throw .isADirectory
  | _ => return d.put place (.file (.text text))

/-- Whether names, the innermost first, lead to a directory. -/
def isDirectory (d : Disk) (start : Place) (names : List String) : Bool :=
  match d.follow start names with
  | .ok place => d.node? place = some .directory
  | .error _ => false

/-- Makes one directory. -/
def makeDirectory (d : Disk) (start : Place) (names : List String) : Except IoFault Disk := do
  let place ← d.follow start names
  match d.node? place with
  | none => return d.put place .directory
  | some _ => throw .exists

/-- Makes a directory where there may be one already. -/
def ensureDirectory (d : Disk) (start : Place) (names : List String) : Disk × Except IoFault Unit :=
  match d.makeDirectory start names with
  | .ok d => (d, .ok ())
  | .error f => (d, if d.isDirectory start names then .ok () else .error f)

/-- Makes a directory and those missing on the way to it, the outermost first. -/
def ensureDirectories (d : Disk) (start : Place) : List String → Disk × Except IoFault Unit
  | [] => (d, .ok ())
  | name :: outer =>
    match d.makeDirectory start (name :: outer) with
    | .error .notFound =>
      match d.ensureDirectories start outer with
      | (d, .ok ()) => d.ensureDirectory start (name :: outer)
      | (d, .error f) => (d, .error f)
    | _ => d.ensureDirectory start (name :: outer)

/-- Writes a file and makes the directories missing on the way to it. What was made stays if a
later step fails. -/
def writeWithin (d : Disk) (p : Path) (text : String) : Disk × Except IoFault Unit :=
  match p.flaw? with
  | some f => (d, .error f)
  | none =>
    match d.ensureDirectories (d.startOf p) p.names.reverse.tail with
    | (d, .error f) => (d, .error f)
    | (d, .ok ()) =>
      match d.write p text with
      | .ok d => (d, .ok ())
      | .error f => (d, .error f)

end Disk

/-- What a run can find out about a disk: what reading a path answers. -/
abbrev View := Path → Except IoFault String

namespace View

def isFile (v : View) (p : Path) : Bool :=
  match v p with
  | .ok _ | .error .notUtf8 => true
  | .error _ => false

def has (v : View) (p : Path) : Bool :=
  match v p with
  | .error .isADirectory => true
  | _ => v.isFile p

end View

end CmsTypings

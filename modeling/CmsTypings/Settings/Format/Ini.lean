import CmsTypings.Settings.Setting
import CmsTypings.Text.Blank
import CmsTypings.Unicode.CodeSet

/-!
Settings in INI files: a name and a text on each line, in sections with a name of their own.
-/

namespace CmsTypings.Settings.Ini

open Unicode (hexDigit?)

def escaped : Char → Char
  | '0' => '\x00'
  | 'a' => '\x07'
  | 'b' => '\x08'
  | 't' => '\t'
  | 'r' => '\r'
  | 'n' => '\n'
  | c => c

/-- A text up to one of some characters, with its escapes read. -/
def upTo (stops : List Char) : List Char → Option (List Char × List Char)
  | [] => some ([], [])
  | '\\' :: '\n' :: rest => upTo stops rest
  | '\\' :: 'x' :: a :: b :: c :: d :: rest => do
    let ds ← [a, b, c, d].mapM hexDigit?
    let code := ds.foldl (fun n d => 16 * n + d) 0
    if h : code.isValidChar then
      (upTo stops rest).map fun r => (Char.ofNatAux code h :: r.1, r.2)
    else none
  | '\\' :: c :: rest => (upTo stops rest).map fun r => (escaped c :: r.1, r.2)
  | c :: rest =>
    if stops.contains c then some ([], c :: rest)
    else (upTo stops rest).map fun r => (c :: r.1, r.2)

def trimmed (text : List Char) : String := Text.trim (String.ofList text)

/-- A value, to the end of its line. A part in quotes may go over several lines. -/
def value? (text : List Char) : Option (String × List Char) := do
  match text.dropWhile fun c => c = ' ' || c = '\t' with
  | q :: rest =>
    if q = '"' ∨ q = '\'' then
      let (quoted, rest) ← upTo [q] rest
      if rest.isEmpty then none
      else
        let (more, rest) ← upTo ['\n', '\r'] (rest.drop 1)
        return (String.ofList quoted ++ trimmed more, rest)
    else
      let (line, rest) ← upTo ['\n', '\r'] (q :: rest)
      return (trimmed line, rest)
  | [] => return ("", [])

/-- The entries of each section; those before the first one have none. -/
abbrev Sections := List (Option String × List (String × Setting))

def addEntry (name : Option String) (key value : String) (sections : Sections) : Sections :=
  match sections with
  | [] => [(name, [(key, .text value)])]
  | s :: rest =>
    if s.1 = name then (name, s.2 ++ [(key, .text value)]) :: rest
    else s :: addEntry name key value rest

def openSection (name : String) (sections : Sections) : Sections :=
  if sections.any fun s => s.1 = some name then sections else sections ++ [(some name, [])]

/-- Reads on in a section. `fresh` says that a line begins, where alone a comment may. -/
def sections : Nat → Bool → Option String → Sections → List Char → Option Sections
  | 0, _, _, done, _ => some done
  | _, _, _, done, [] => some done
  | fuel + 1, fresh, name, done, c :: rest =>
    if c = '\n' then sections fuel true name done rest
    else if Text.isBlank c then sections fuel false name done rest
    else if c = ';' ∨ c = '#' then
      if fresh then sections fuel false name done (rest.dropWhile (· ≠ '\n')) else none
    else if c = '[' then do
      let (title, rest) ← upTo [']'] rest
      if rest.isEmpty then none
      else
        let title := trimmed title
        sections fuel false (some title) (openSection title done) (rest.drop 1)
    else do
      let (key, rest) ← upTo ['=', ':'] (c :: rest)
      if rest.isEmpty || (trimmed key).isEmpty then none
      else
        let (value, rest) ← value? (rest.drop 1)
        sections fuel false name (addEntry name (trimmed key) value done) rest

/-- The setting that a text writes. -/
def read? (text : String) : Option Setting := do
  let cs := text.toList
  let found ← sections (cs.length + 1) true none [] cs
  return .table (found.flatMap fun s =>
    match s.1 with
    | none => s.2
    | some name => [(name, .table s.2)])

end CmsTypings.Settings.Ini
